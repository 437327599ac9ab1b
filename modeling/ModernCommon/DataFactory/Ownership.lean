import ModernCommon.DataFactory.Lifecycle

/-!
# Factories never outlive their connection

Whatever order factories are constructed, connected, moved and destroyed in,
and whenever `disconnect` comes, the connection they hold is the one live
instance. The invariant ties the factories' pointers to `_instance` and to its
count, and every effect on the shares keeps it.
-/

namespace ModernCommon
namespace Process

open Library
open DataFactory (ConnectionId)

/-- Factories hold shares of the instance only, and it serves them all, besides
the shares that have been overwritten. -/
structure Sound (leaked : Nat) (process : Process) : Prop where
  held : ∀ connection, process.Holds connection →
    process.mysql.currentInstance = some connection
  serves : process.mysql.Serves (process.holders + leaked)

namespace Sound

variable {leaked : Nat} {process after : Process} {operation : Operation}

/-- Before any operation. -/
theorem initial : Sound 0 {} where
  held := by
    rintro connection ⟨address, factory, isLive, _⟩
    simp at isLive
  serves := Connections.Serves.initial

/-- A factory with a share is counted. -/
theorem holders_pos
    {connection : ConnectionId}
    (has : process.Holds connection) :
    0 < process.holders := by
  obtain ⟨address, factory, isLive, hasIt⟩ := has
  apply Slots.count_pos_of_live isLive
  simp [DataFactory.holds, hasIt]

/-- A connection some factory holds is live. -/
theorem live_ne_none
    {connection : ConnectionId}
    (sound : process.Sound leaked)
    (has : process.Holds connection) :
    process.mysql.objects.live connection ≠ none := by
  obtain ⟨object, isLive⟩ :=
    sound.serves.object_of_current (sound.held connection has)
  simp [isLive]

/-- Whoever holds a share after one was taken holds one of the instance. -/
theorem held_of_took
    (sound : process.Sound leaked)
    {params : MySqlConnectionParams}
    {opening : Opening}
    {current : ConnectionId}
    (returned : process.mysql.getCurrentInstance params opening =
      .ok (current, after.mysql))
    (instanceIs : after.mysql.currentInstance = some current)
    (held : ∀ connection, after.Holds connection →
      process.Holds connection ∨ connection = current)
    (connection : ConnectionId)
    (has : after.Holds connection) :
    after.mysql.currentInstance = some connection := by
  rcases held connection has with before | rfl
  · -- an earlier share is of the instance, which is what was returned
    have earlier := sound.held connection before
    rcases Connections.getCurrentInstance_cases returned with
      ⟨existing, _⟩ | ⟨noneYet, _⟩
    · rw [instanceIs, ← existing, earlier]
    · rw [noneYet] at earlier
      cases earlier
  · exact instanceIs

/-- One of the shares served is the one to be given back. -/
theorem serves_of_gave
    (sound : process.Sound leaked)
    (shares : after.holders + 1 = process.holders) :
    process.mysql.Serves (after.holders + leaked + 1) :=
  sound.serves.mono (by omega)

/-- Every effect keeps the invariant, if the count can take the share taken. -/
theorem step
    (sound : process.Sound leaked)
    (effect : Effect process operation after)
    (room : process.takesShare operation = true →
      after.mysql.acquisitions = process.mysql.acquisitions + 1 →
        process.mysql.HasRoom) :
    after.Sound leaked := by
  cases effect with
  | took params opening current takes returned held shares =>
      have hasRoom := room takes
        (Connections.acquisitions_getCurrentInstance returned)
      have served := sound.serves.getCurrentInstance hasRoom returned
      exact ⟨sound.held_of_took returned served.2 held, served.1.mono (by omega)⟩
  | gave connection was released held shares =>
      have instanceIs := sound.held connection was
      have given := (sound.serves_of_gave shares).releaseInstance instanceIs
      rw [← released] at given
      refine ⟨?_, given.1⟩
      intro other has
      have stillHeld := holders_pos has
      rw [given.2 (by omega), ← instanceIs]
      exact sound.held other (held other has)
  | kept same held shares =>
      refine ⟨?_, ?_⟩
      · intro connection has
        rw [same]
        exact sound.held connection (held connection has)
      · rw [same, shares]
        exact sound.serves
  | disconnected told same =>
      have served := sound.serves.disconnect
      refine ⟨?_, ?_⟩
      · intro connection has
        have before := (holds_iff_of_factories_eq same connection).mp has
        have stillHeld := holders_pos before
        rw [told, served.2 (by omega)]
        exact sound.held connection before
      · rw [told, holders_eq_of_factories_eq same]
        exact served.1
  | misused connection was gone acquired =>
      exact absurd gone (sound.live_ne_none was)

/-- A share that is overwritten is leaked: the instance is there already, so the
call does not throw. -/
theorem step_overwriting
    (sound : process.Sound leaked)
    (overwrites : process.overwritesShare operation = true)
    (stepped : process.step operation = some after)
    (room : after.mysql.acquisitions = process.mysql.acquisitions + 1 →
      process.mysql.HasRoom) :
    after.Sound (leaked + 1) := by
  cases operation with
  | connect this params opening =>
      obtain ⟨factory, isLive, same⟩ := Option.bind_eq_some_iff.mp stepped
      rw [overwritesShare_connect isLive, DataFactory.holds,
        Option.isSome_iff_exists] at overwrites
      obtain ⟨connection, hasIt⟩ := overwrites
      have instanceIs := sound.held connection ⟨this, factory, isLive, hasIt⟩
      have returned : process.connect this factory params opening = .ok after := by
        rw [connect, Connections.getCurrentInstance, instanceIs] at same ⊢
        exact congrArg Except.ok (Option.some.inj same)
      obtain ⟨current, taken, held, shares⟩ := connect_took isLive returned
      have hasRoom := room (Connections.acquisitions_getCurrentInstance taken)
      have served := sound.serves.getCurrentInstance hasRoom taken
      refine ⟨sound.held_of_took taken served.2 held, served.1.mono ?_⟩
      simp only [DataFactory.holds, hasIt, Option.isSome_some, if_true] at shares
      omega
  | setDefaultConnectionParams params => cases overwrites
  | clearDefaultConnectionParams => cases overwrites
  | construct tableName opening => cases overwrites
  | moveConstruct other left => cases overwrites
  | moveAssign this other left => cases overwrites
  | destruct this => cases overwrites
  | statement this => cases overwrites
  | disconnect => cases overwrites

/-- The tally of shares bounds the count along the way. -/
theorem step_tallied
    (sound : process.Sound leaked)
    (tallied : process.mysql.Tallied)
    (effect : Effect process operation after) :
    after.mysql.Tallied := by
  cases effect with
  | took params opening current takes returned held shares =>
      exact tallied.getCurrentInstance sound.serves returned
  | gave connection was released held shares =>
      rw [released]
      exact tallied.releaseInstance (sound.serves_of_gave shares)
        (sound.held connection was)
  | kept same held shares =>
      rw [same]
      exact tallied
  | disconnected told same =>
      rw [told]
      exact tallied.disconnect sound.serves
  | misused connection was gone acquired =>
      exact absurd gone (sound.live_ne_none was)

end Sound

/-- No operation forgets a share taken. -/
theorem acquisitions_le
    {process after : Process}
    {operation : Operation}
    (effect : Effect process operation after) :
    process.mysql.acquisitions ≤ after.mysql.acquisitions := by
  cases effect with
  | took params opening current takes returned held shares =>
      rw [Connections.acquisitions_getCurrentInstance returned]
      exact Nat.le_succ _
  | gave connection was released held shares =>
      rw [released, Connections.acquisitions_releaseInstance]
  | kept same held shares => rw [same]
  | disconnected told same => rw [told, Connections.acquisitions_disconnect]
  | misused connection was gone acquired => rw [acquired]

/-- No run forgets a share taken. -/
theorem acquisitions_le_of_run
    {operations : List Operation}
    {start process : Process}
    (ran : lifecycle.run start operations = some process) :
    start.mysql.acquisitions ≤ process.mysql.acquisitions :=
  lifecycle.invariant_of_run
    (fun process => start.mysql.acquisitions ≤ process.mysql.acquisitions)
    (fun _ _ _ earlier stepped =>
      Nat.le_trans earlier (acquisitions_le (step_effect stepped)))
    (Nat.le_refl _) ran

/-- The count can take a share that brings the tally to less than 2 ^ 32. -/
theorem hasRoom_of_tallied
    {process after : Process}
    (tallied : process.mysql.Tallied)
    (bounded : after.mysql.acquisitions < 2 ^ 32)
    (acquired : after.mysql.acquisitions = process.mysql.acquisitions + 1) :
    process.mysql.HasRoom := by
  intro this object isLive
  have tally := tallied this object isLive
  omega

/-- While fewer shares have been taken than the count has values, the factories
and the connection agree. -/
theorem sound_of_run
    {operations : List Operation}
    {process : Process}
    (ran : lifecycle.run {} operations = some process)
    (bounded : process.mysql.acquisitions < 2 ^ 32) :
    process.Sound 0 ∧ process.mysql.Tallied := by
  revert bounded
  refine lifecycle.invariant_of_run
    (fun process => process.mysql.acquisitions < 2 ^ 32 →
      process.Sound 0 ∧ process.mysql.Tallied) ?_ ?_ ran
  · intro process operation after before stepped bounded
    have effect := step_effect stepped
    have earlier := acquisitions_le effect
    obtain ⟨sound, tallied⟩ := before (by omega)
    exact ⟨sound.step effect fun _ => hasRoom_of_tallied tallied bounded,
      sound.step_tallied tallied effect⟩
  · intro _
    exact ⟨Sound.initial, fun this object isLive => by simp at isLive⟩

/-- What the factories rely on in the shared connection. -/
structure ConnectionSafe (process : Process) : Prop where
  oneLive : ∀ first second firstObject secondObject,
    process.mysql.objects.live first = some firstObject →
      process.mysql.objects.live second = some secondObject → first = second
  held : ∀ address factory connection,
    process.factories.live address = some factory →
      factory.connection = some connection →
        process.mysql.currentInstance = some connection ∧
          ∃ object, process.mysql.objects.live connection = some object
  counted : ∀ connection object,
    process.mysql.objects.live connection = some object →
      process.holders ≤ object.count.toNat
  neverUsedAfterDestroy : ∀ connection,
    .useAfterDestroy connection ∉ process.mysql.faults
  neverDecrementsZero : ∀ connection,
    .decrementZero connection ∉ process.mysql.faults
  deletedOnce : ∀ connection, process.mysql.deletions.count connection ≤ 1

/-- With fewer than 2 ^ 32 acquisitions the shared connection is never used
after it is destroyed, never decremented below zero and deleted at most once. -/
theorem connectionSafe_of_run
    (operations : List Operation)
    (process : Process)
    (ran : lifecycle.run {} operations = some process)
    (bounded : process.mysql.acquisitions < 2 ^ 32) :
    process.ConnectionSafe := by
  obtain ⟨sound, _⟩ := sound_of_run ran bounded
  constructor
  · intro first second firstObject secondObject firstLive secondLive
    have firstIs := sound.serves.current_of_live firstLive
    rw [sound.serves.current_of_live secondLive] at firstIs
    exact (Option.some.inj firstIs).symm
  · intro address factory connection isLive hasIt
    have instanceIs := sound.held connection ⟨address, factory, isLive, hasIt⟩
    exact ⟨instanceIs, sound.serves.object_of_current instanceIs⟩
  · exact sound.serves.shares_le
  · simp [sound.serves.faultless]
  · simp [sound.serves.faultless]
  · exact List.nodup_iff_count.mp sound.serves.deletedOnce

/-- A share handed from one factory to another after `disconnect`, past a
connection attempt that throws. -/
def handover : List Operation :=
  [.construct [] .opened, .connect 0 {} .initFailed, .connect 0 {} .opened,
    .setDefaultConnectionParams {}, .construct [] .opened, .disconnect,
    .moveAssign 0 1 [], .moveAssign 0 0 [], .moveConstruct 0 [], .destruct 1,
    .destruct 2, .destruct 0]

theorem connectionSafe_handover :
    ∃ process, lifecycle.run {} handover = some process ∧
      process.mysql.deletions = [0] ∧ process.ConnectionSafe :=
  ⟨_, rfl, rfl, connectionSafe_of_run handover _ rfl (by decide)⟩

end Process
end ModernCommon
