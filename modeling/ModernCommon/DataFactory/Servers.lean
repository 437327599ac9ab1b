import ModernCommon.DataFactory.Lifecycle

/-!
# Which server a factory talks to

All factories share one connection, opened with the parameters of the call that
found none. Later calls get that connection, whatever parameters they name,
until it has been destroyed.
-/

namespace ModernCommon

open Library
open DataFactory (ConnectionId)

namespace Connections

/-! ## The parameters of a live connection -/

/-- The parameters a connection was opened with, while it lives. -/
def openedWith
    (connections : Connections)
    (connection : ConnectionId) : Option MySqlConnectionParams :=
  (connections.objects.live connection).map MySqlConnection.opened

/-- Counting and flagging an object leave its parameters alone. -/
theorem openedWith_write
    {connections base : Connections}
    (sameObjects : base.objects = connections.objects)
    {this : ConnectionId}
    {object written : MySqlConnection}
    (isLive : connections.objects.live this = some object)
    (same : written.opened = object.opened)
    (connection : ConnectionId) :
    (base.write this written).openedWith connection =
      connections.openedWith connection := by
  by_cases own : this = connection
  · subst own
    have stored := Slots.lt_length_of_live isLive
    simp [openedWith, write, sameObjects, Slots.live_set_self stored, isLive,
      same]
  · simp [openedWith, write, sameObjects, Slots.live_set_ne own]

theorem openedWith_retain
    (connections : Connections)
    (this connection : ConnectionId) :
    (connections.retain this).openedWith connection =
      connections.openedWith connection := by
  cases isLive : connections.objects.live this with
  | none => simp [retain, isLive, fail, openedWith]
  | some object =>
      rw [retain_of_live isLive]
      refine openedWith_write ?_ isLive ?_ connection <;> rfl

@[simp] theorem currentInstance_retain
    (connections : Connections)
    (this : ConnectionId) :
    (connections.retain this).currentInstance =
      connections.currentInstance := by
  simp only [retain]
  split <;> rfl

/-- A call that finds a connection returns it as it is. -/
theorem getCurrentInstance_of_some
    {connections after : Connections}
    {existing current : ConnectionId}
    {params : MySqlConnectionParams}
    {opening : Opening}
    (instanceIs : connections.currentInstance = some existing)
    (returned : connections.getCurrentInstance params opening =
      .ok (current, after)) :
    current = existing ∧ after.currentInstance = some existing ∧
      ∀ connection, after.openedWith connection =
        connections.openedWith connection := by
  rcases getCurrentInstance_cases returned with ⟨same, rfl⟩ | ⟨noneYet, _⟩
  · rw [instanceIs] at same
    cases same
    exact ⟨rfl, by simp [instanceIs], connections.openedWith_retain existing⟩
  · rw [instanceIs] at noneYet
    cases noneYet

/-- A call that finds none opens one with its parameters. -/
theorem getCurrentInstance_of_none
    {connections after : Connections}
    {current : ConnectionId}
    {params : MySqlConnectionParams}
    {opening : Opening}
    (noInstance : connections.currentInstance = none)
    (returned : connections.getCurrentInstance params opening =
      .ok (current, after)) :
    after.currentInstance = some current ∧
      after.openedWith current = some params := by
  rcases getCurrentInstance_cases returned with ⟨same, _⟩ | ⟨_, rfl, rfl⟩
  · rw [noInstance] at same
    cases same
  · rw [openedWith_retain, currentInstance_retain]
    refine ⟨rfl, ?_⟩
    simp [openedWith, create, Slots.live_append_self]

/-- A call keeps the instance with its parameters, unless it destroys it. -/
def Keeps (before after : Connections) : Prop :=
  after.currentInstance = none ∨
    after.currentInstance = before.currentInstance ∧
      ∀ connection, after.openedWith connection = before.openedWith connection

theorem keeps_releaseInstance
    (connections : Connections)
    (this : ConnectionId) :
    connections.Keeps (connections.releaseInstance this) := by
  cases isLive : connections.objects.live this with
  | none =>
      right
      simp [releaseInstance, isLive, fail, openedWith]
  | some object =>
      simp only [releaseInstance, isLive]
      split <;> split
      · exact .inl rfl
      · refine .inr ⟨rfl, openedWith_write ?_ isLive ?_⟩ <;> rfl
      · exact .inl rfl
      · refine .inr ⟨rfl, openedWith_write ?_ isLive ?_⟩ <;> rfl

theorem keeps_disconnect (connections : Connections) :
    connections.Keeps connections.disconnect := by
  cases instanceIs : connections.currentInstance with
  | none => exact .inl (by simp [disconnect, instanceIs])
  | some current =>
      cases isLive : connections.objects.live current with
      | none =>
          right
          simp [disconnect, instanceIs, isLive, fail, openedWith]
      | some object =>
          by_cases idle : object.count = 0
          · rw [disconnect_of_idle isLive instanceIs idle]
            exact .inl rfl
          · rw [disconnect_of_held isLive instanceIs idle]
            refine .inr ⟨rfl, openedWith_write ?_ isLive ?_⟩ <;> rfl

end Connections
namespace Process

/-! ## Who opened the shared connection -/

/-- The parameters an operation asks `getCurrentInstance` for. -/
def asks (process : Process) : Operation → Option MySqlConnectionParams
  | .construct _ _ =>
      if process.haveDefaultParams then some process.defaultParams else none
  | .connect _ params _ => some params
  | _ => none

/-- The connection has been the shared one since an operation that found none
and asked for these parameters. -/
def OpenedFor
    (operations : List Operation)
    (connection : ConnectionId)
    (params : MySqlConnectionParams) : Prop :=
  ∃ earlier operation later before,
    operations = earlier ++ operation :: later ∧
      lifecycle.run {} earlier = some before ∧
      before.mysql.currentInstance = none ∧
      before.asks operation = some params ∧
      lifecycle.Throughout {} (earlier ++ [operation]) later fun between =>
        between.mysql.currentInstance = some connection

/-- An operation keeps the shared connection, gives it up, or finds none and
opens one with the parameters it asks for. -/
inductive Served (process : Process) (operation : Operation) (after : Process) : Prop
  | kept (keeps : process.mysql.Keeps after.mysql)
  | opened
      (connection : ConnectionId)
      (params : MySqlConnectionParams)
      (noInstance : process.mysql.currentInstance = none)
      (asked : process.asks operation = some params)
      (instanceIs : after.mysql.currentInstance = some connection)
      (served : after.mysql.openedWith connection = some params)

theorem Served.of_same
    {process after : Process}
    {operation : Operation}
    (same : after.mysql = process.mysql) :
    Served process operation after := by
  apply Served.kept
  rw [same]
  exact .inr ⟨rfl, fun _ => rfl⟩

/-- A share taken is one of the connection found, or of a new one. -/
theorem Served.of_getCurrentInstance
    {process after : Process}
    {operation : Operation}
    {params : MySqlConnectionParams}
    {opening : Opening}
    {current : ConnectionId}
    (asked : process.asks operation = some params)
    (returned : process.mysql.getCurrentInstance params opening =
      .ok (current, after.mysql)) :
    Served process operation after := by
  cases instanceIs : process.mysql.currentInstance with
  | none =>
      have opens := Connections.getCurrentInstance_of_none instanceIs returned
      exact .opened current params instanceIs asked opens.1 opens.2
  | some existing =>
      have keeps := Connections.getCurrentInstance_of_some instanceIs returned
      exact .kept (.inr ⟨keeps.2.1.trans instanceIs.symm, keeps.2.2⟩)

/-- A release keeps the connection or destroys it. -/
theorem Served.of_release
    {process after : Process}
    {operation : Operation}
    {factory : DataFactory}
    (released : after.mysql = factory.release process.mysql) :
    Served process operation after := by
  cases hasIt : factory.connection with
  | none =>
      apply Served.of_same
      simpa [DataFactory.release, hasIt] using released
  | some connection =>
      apply Served.kept
      rw [released, DataFactory.release, hasIt]
      exact process.mysql.keeps_releaseInstance connection

/-- A call that throws has served nothing. -/
theorem served_orUnchanged
    {process : Process}
    {operation : Operation}
    {result : Except DataError Process}
    (returns : ∀ after, result = .ok after → Served process operation after) :
    Served process operation (process.orUnchanged result) := by
  cases result with
  | ok after => exact returns after rfl
  | error error => exact .of_same rfl

/-- What a construction that returns has asked for, and got. -/
theorem construct_returned
    {process after : Process}
    {tableName : Bytes}
    {opening : Opening}
    (haveDefaults : process.haveDefaultParams = true)
    (returned : process.construct tableName opening = .ok after) :
    ∃ current,
      process.mysql.getCurrentInstance process.defaultParams opening =
          .ok (current, after.mysql) ∧
        after.factories = process.factories ++
          [some { connection := some current, tableName := tableName }] := by
  simp only [construct, haveDefaults, if_true] at returned
  split at returned
  · cases returned
  · rename_i current mysql taken
    cases returned
    exact ⟨current, taken, rfl⟩

/-- What a `connect` that returns has asked for, and got. -/
theorem connect_returned
    {process after : Process}
    {this : Nat}
    {factory : DataFactory}
    {params : MySqlConnectionParams}
    {opening : Opening}
    (returned : process.connect this factory params opening = .ok after) :
    ∃ current,
      process.mysql.getCurrentInstance params opening =
          .ok (current, after.mysql) ∧
        after.factories = process.factories.set this
          (some { factory with connection := some current }) := by
  unfold connect at returned
  split at returned
  · cases returned
  · rename_i current mysql taken
    cases returned
    exact ⟨current, taken, rfl⟩

theorem step_served
    {process after : Process}
    {operation : Operation}
    (stepped : process.step operation = some after) :
    Served process operation after := by
  cases operation with
  | setDefaultConnectionParams params =>
      cases stepped
      exact .of_same rfl
  | clearDefaultConnectionParams =>
      cases stepped
      exact .of_same rfl
  | construct tableName opening =>
      cases stepped
      apply served_orUnchanged
      intro after returned
      by_cases haveDefaults : process.haveDefaultParams = true
      · obtain ⟨current, taken, _⟩ := construct_returned haveDefaults returned
        exact .of_getCurrentInstance (by simp [asks, haveDefaults]) taken
      · simp only [construct, haveDefaults] at returned
        cases returned
        exact .of_same rfl
  | connect this params opening =>
      obtain ⟨factory, isLive, same⟩ := Option.bind_eq_some_iff.mp stepped
      cases same
      apply served_orUnchanged
      intro after returned
      obtain ⟨current, taken, _⟩ := connect_returned returned
      exact .of_getCurrentInstance rfl taken
  | moveConstruct other left =>
      obtain ⟨moved, isLive, same⟩ := Option.bind_eq_some_iff.mp stepped
      cases same
      exact .of_same rfl
  | moveAssign this other left =>
      obtain ⟨factory, isLive, rest⟩ := Option.bind_eq_some_iff.mp stepped
      obtain ⟨moved, otherLive, same⟩ := Option.bind_eq_some_iff.mp rest
      cases same
      by_cases different : this ≠ other
      · rw [moveAssign, if_pos different]
        exact .of_release rfl
      · rw [moveAssign, if_neg different]
        exact .of_same rfl
  | destruct this =>
      obtain ⟨factory, isLive, same⟩ := Option.bind_eq_some_iff.mp stepped
      cases same
      exact .of_release rfl
  | statement this =>
      obtain ⟨factory, isLive, same⟩ := Option.bind_eq_some_iff.mp stepped
      cases same
      apply served_orUnchanged
      intro after returned
      unfold statement at returned
      split at returned
      · cases returned
      · split at returned <;> cases returned
        · exact .kept (.inr ⟨rfl, fun _ => rfl⟩)
        · exact .of_same rfl
  | disconnect =>
      cases stepped
      exact .kept process.mysql.keeps_disconnect

/-! ## Every run -/

/-- A connection just opened. -/
theorem OpenedFor.here
    {operations : List Operation}
    {process after : Process}
    {operation : Operation}
    {connection : ConnectionId}
    {params : MySqlConnectionParams}
    (ran : lifecycle.run {} operations = some process)
    (noInstance : process.mysql.currentInstance = none)
    (asked : process.asks operation = some params)
    (arrived : lifecycle.run {} (operations ++ [operation]) = some after)
    (instanceIs : after.mysql.currentInstance = some connection) :
    OpenedFor (operations ++ [operation]) connection params :=
  ⟨operations, operation, [], process, rfl, ran, noInstance, asked,
    System.throughout_nil arrived instanceIs⟩

/-- It stays opened for the same parameters while it is the shared one. -/
theorem OpenedFor.extend
    {operations : List Operation}
    {after : Process}
    {operation : Operation}
    {connection : ConnectionId}
    {params : MySqlConnectionParams}
    (openedFor : OpenedFor operations connection params)
    (arrived : lifecycle.run {} (operations ++ [operation]) = some after)
    (instanceIs : after.mysql.currentInstance = some connection) :
    OpenedFor (operations ++ [operation]) connection params := by
  obtain ⟨earlier, opening, later, before, rfl, reached, noInstance, asked,
    since⟩ := openedFor
  refine ⟨earlier, opening, later ++ [operation], before, by simp, reached,
    noInstance, asked, since.extend ?_ instanceIs⟩
  rw [← arrived]
  simp

/-- The shared connection is live and was opened for what was asked. -/
theorem openedFor_of_run
    {operations : List Operation}
    {process : Process}
    (ran : lifecycle.run {} operations = some process) :
    ∀ shared, process.mysql.currentInstance = some shared →
      ∃ params, process.mysql.openedWith shared = some params ∧
        OpenedFor operations shared params := by
  refine lifecycle.history_of_run
    (fun operations process =>
      ∀ shared, process.mysql.currentInstance = some shared →
        ∃ params, process.mysql.openedWith shared = some params ∧
          OpenedFor operations shared params) ?_ ?_ ran
  · intro shared instanceIs
    cases instanceIs
  · intro history before operation after reached earlier stepped shared
      instanceIs
    have arrived : lifecycle.run {} (history ++ [operation]) = some after :=
      (lifecycle.run_append_singleton_eq_some _ _ _ _).mpr
        ⟨before, reached, stepped⟩
    cases step_served stepped with
    | kept keeps =>
        rcases keeps with gone | ⟨sameInstance, sameParams⟩
        · rw [gone] at instanceIs
          cases instanceIs
        · obtain ⟨params, served, openedFor⟩ :=
            earlier shared (sameInstance.symm.trans instanceIs)
          exact ⟨params, (sameParams shared).trans served,
            openedFor.extend arrived instanceIs⟩
    | opened connection params noInstance asked isNow served =>
        rw [isNow] at instanceIs
        cases instanceIs
        exact ⟨params, served, .here reached noInstance asked arrived isNow⟩

/-- A share is one of a connection opened with the parameters asked for exactly
if no connection was there or the one that was had been opened with them. -/
theorem openedWith_of_getCurrentInstance
    {mysql after : Connections}
    {params : MySqlConnectionParams}
    {opening : Opening}
    {current : ConnectionId}
    (live : ∀ shared, mysql.currentInstance = some shared →
      ∃ served, mysql.openedWith shared = some served)
    (returned : mysql.getCurrentInstance params opening =
      .ok (current, after)) :
    ∃ served, after.openedWith current = some served ∧
      (served = params ↔
        ∀ shared, mysql.currentInstance = some shared →
          mysql.openedWith shared = some params) := by
  cases instanceIs : mysql.currentInstance with
  | none =>
      have opens := Connections.getCurrentInstance_of_none instanceIs returned
      exact ⟨params, opens.2, by simp⟩
  | some existing =>
      obtain ⟨rfl, -, same⟩ :=
        Connections.getCurrentInstance_of_some instanceIs returned
      obtain ⟨served, isServed⟩ := live current instanceIs
      refine ⟨served, (same current).trans isServed, ?_⟩
      simp [isServed]

/-- A factory that is constructed with default parameters set, or connected,
holds a connection opened with the parameters named exactly if there was none
before or the shared one had been opened with them; which it was opened with
is up to the operation that found none. -/
theorem openedWith_of_run
    {operations : List Operation}
    {process : Process}
    (ran : lifecycle.run {} operations = some process) :
    (∀ tableName opening after,
      process.haveDefaultParams = true →
      process.construct tableName opening = .ok after →
      ∃ connection served,
        after.factories.live process.factories.length =
            some { connection := some connection, tableName := tableName } ∧
          after.mysql.openedWith connection = some served ∧
          (served = process.defaultParams ↔
            ∀ shared, process.mysql.currentInstance = some shared →
              process.mysql.openedWith shared =
                some process.defaultParams)) ∧
      (∀ this factory params opening after,
        process.factories.live this = some factory →
        process.connect this factory params opening = .ok after →
        ∃ connection served,
          after.factories.live this =
              some { factory with connection := some connection } ∧
            after.mysql.openedWith connection = some served ∧
            (served = params ↔
              ∀ shared, process.mysql.currentInstance = some shared →
                process.mysql.openedWith shared = some params)) ∧
      ∀ shared, process.mysql.currentInstance = some shared →
        ∃ params, process.mysql.openedWith shared = some params ∧
          OpenedFor operations shared params := by
  have openedFor := openedFor_of_run ran
  have live : ∀ shared, process.mysql.currentInstance = some shared →
      ∃ served, process.mysql.openedWith shared = some served := by
    intro shared instanceIs
    obtain ⟨params, served, _⟩ := openedFor shared instanceIs
    exact ⟨params, served⟩
  refine ⟨?_, ?_, openedFor⟩
  · intro tableName opening after haveDefaults returned
    obtain ⟨current, taken, factories⟩ :=
      construct_returned haveDefaults returned
    obtain ⟨served, isServed, exactly⟩ :=
      openedWith_of_getCurrentInstance live taken
    refine ⟨current, served, ?_, isServed, exactly⟩
    rw [factories, Slots.live_append_self]
  · intro this factory params opening after isLive returned
    obtain ⟨current, taken, factories⟩ := connect_returned returned
    obtain ⟨served, isServed, exactly⟩ :=
      openedWith_of_getCurrentInstance live taken
    refine ⟨current, served, ?_, isServed, exactly⟩
    rw [factories, Slots.live_set_self (Slots.lt_length_of_live isLive)]

/-! ## Two servers -/

/-- Another server than the default one. -/
def otherServer : MySqlConnectionParams := { port := 3307 }

/-- A factory is connected to one server before the default parameters name
another. -/
def twoServers : List Operation :=
  [.construct [] .opened, .connect 0 otherServer .opened,
    .setDefaultConnectionParams {}]

/-- The factory constructed next is served by the first server. -/
theorem twoServers_ran :
    ∃ process after,
      lifecycle.run {} twoServers = some process ∧
        process.haveDefaultParams = true ∧
        process.defaultParams = {} ∧
        process.construct [] .opened = .ok after ∧
        after.factories.live process.factories.length =
          some { connection := some 0, tableName := [] } ∧
        after.mysql.openedWith 0 = some otherServer :=
  ⟨_, _, rfl, rfl, rfl, rfl, rfl, rfl⟩

theorem openedWith_twoServers :
    ∃ process after connection served,
      lifecycle.run {} twoServers = some process ∧
        process.construct [] .opened = .ok after ∧
        after.factories.live process.factories.length =
          some { connection := some connection, tableName := [] } ∧
        after.mysql.openedWith connection = some served ∧
        (served = process.defaultParams ↔
          ∀ shared, process.mysql.currentInstance = some shared →
            process.mysql.openedWith shared = some process.defaultParams) := by
  obtain ⟨process, after, ran, haveDefaults, -, returned, -⟩ := twoServers_ran
  obtain ⟨connection, served, holder, serves, exactly⟩ :=
    (openedWith_of_run ran).1 [] .opened after haveDefaults returned
  exact ⟨process, after, connection, served, ran, returned, holder, serves,
    exactly⟩

/-- The parameters named do not decide which server answers. -/
theorem not_openedWith_twoServers :
    ¬ ∀ operations process, lifecycle.run {} operations = some process →
      (∀ tableName opening after,
        process.haveDefaultParams = true →
        process.construct tableName opening = .ok after →
        ∃ connection,
          after.factories.live process.factories.length =
              some { connection := some connection, tableName := tableName } ∧
            after.mysql.openedWith connection =
              some process.defaultParams) ∧
        ∀ this factory params opening after,
          process.factories.live this = some factory →
          process.connect this factory params opening = .ok after →
          ∃ connection,
            after.factories.live this =
                some { factory with connection := some connection } ∧
              after.mysql.openedWith connection = some params := by
  intro claimed
  obtain ⟨process, after, ran, haveDefaults, defaults, returned, holder,
    serves⟩ := twoServers_ran
  obtain ⟨connection, isLive, served⟩ :=
    (claimed twoServers process ran).1 [] .opened after haveDefaults returned
  rw [holder] at isLive
  cases isLive
  rw [serves, defaults] at served
  revert served
  decide

end Process
end ModernCommon
