import ModernCommon.DataFactory.Ownership

/-!
# Disconnecting

`disconnect` destroys the connection once its last share is given back. The
count is exact as long as every share taken lands in a factory without one:
`connect` on a factory that has a share overwrites its pointer without giving
the share back, and the connection then outlives all factories.
-/

namespace ModernCommon
namespace Process

open Library
open DataFactory (ConnectionId)

/-- A share is only taken by a factory without one, and only while the count
can take it. -/
def SharesOnce (process : Process) (operation : Operation) : Prop :=
  process.overwritesShare operation = false ∧
    (process.takesShare operation = true → process.holders + 1 < 2 ^ 32)

instance (process : Process) (operation : Operation) :
    Decidable (process.SharesOnce operation) :=
  inferInstanceAs (Decidable (_ ∧ _))

/-- No live factory has a share. -/
def Unheld (process : Process) : Prop :=
  ∀ address factory, process.factories.live address = some factory →
    factory.connection = none

/-- The connection object is gone. -/
def Disconnected (process : Process) : Prop :=
  process.mysql.currentInstance = none ∧
    ∀ connection, process.mysql.objects.live connection = none

/-- No factory has a share exactly when none is counted. -/
theorem unheld_iff (process : Process) :
    process.Unheld ↔ process.holders = 0 := by
  constructor
  · intro unheld
    apply Slots.count_eq_zero
    intro address factory isLive
    simp [DataFactory.holds, unheld address factory isLive]
  · intro none_counted address factory isLive
    cases hasIt : factory.connection with
    | none => rfl
    | some connection =>
        have counted := Sound.holders_pos ⟨address, factory, isLive, hasIt⟩
        rw [none_counted] at counted
        exact absurd counted (Nat.lt_irrefl 0)

/-- An exact count has room for a share whenever the factories do. -/
theorem hasRoom_of_settles
    {process : Process}
    (settles : process.mysql.Settles process.holders)
    (fits : process.holders + 1 < 2 ^ 32) :
    process.mysql.HasRoom := by
  intro this object isLive
  rw [settles.exact this object isLive]
  exact fits

/-- A share taken once keeps the count exact. -/
theorem step_settles
    {process after : Process}
    {operation : Operation}
    (sound : process.Sound 0)
    (settles : process.mysql.Settles process.holders)
    (intact : process.overwritesShare operation = false)
    (room : process.takesShare operation = true →
      after.mysql.acquisitions = process.mysql.acquisitions + 1 →
        process.mysql.HasRoom)
    (effect : Effect process operation after) :
    after.mysql.Settles after.holders := by
  cases effect with
  | took params opening current takes returned held shares =>
      have hasRoom := room takes
        (Connections.acquisitions_getCurrentInstance returned)
      have oneMore : after.holders = process.holders + 1 := by
        simpa [intact] using shares
      rw [oneMore]
      exact settles.getCurrentInstance sound.serves hasRoom returned
  | gave connection was released held shares =>
      rw [← shares] at settles
      rw [released]
      exact settles.releaseInstance (sound.serves_of_gave shares)
        (sound.held connection was)
  | kept same held shares =>
      rw [same, shares]
      exact settles
  | disconnected told same =>
      rw [told, holders_eq_of_factories_eq same]
      exact settles.disconnect sound.serves
  | misused connection was gone acquired =>
      exact absurd gone (sound.live_ne_none was)

/-- Along a run that takes every share once the count is exact. -/
theorem settles_of_run
    {operations : List Operation}
    {process : Process}
    (ran : lifecycle.run {} operations = some process)
    (once : lifecycle.Allows SharesOnce {} operations) :
    process.Sound 0 ∧ process.mysql.Settles process.holders := by
  refine lifecycle.invariant_of_run_of_allows SharesOnce
    (fun process => process.Sound 0 ∧ process.mysql.Settles process.holders)
    ?_ ⟨Sound.initial, Connections.Settles.initial⟩ once ran
  rintro process operation after ⟨sound, settles⟩ once stepped
  have effect := step_effect stepped
  have room : process.takesShare operation = true →
      after.mysql.acquisitions = process.mysql.acquisitions + 1 →
        process.mysql.HasRoom :=
    fun takes _ => hasRoom_of_settles settles (once.2 takes)
  exact ⟨sound.step effect room,
    step_settles sound settles once.1 room effect⟩

/-- With an exact count a disconnected connection nobody holds is gone. -/
theorem disconnected_of_settles
    {process : Process}
    (sound : process.Sound 0)
    (settles : process.mysql.Settles process.holders)
    (told : process.mysql.disconnected = true)
    (unheld : process.Unheld) :
    process.Disconnected := by
  have gone : ∀ connection, process.mysql.objects.live connection = none := by
    intro connection
    cases isLive : process.mysql.objects.live connection with
    | none => rfl
    | some object =>
        -- a live object would be in use, but nobody holds a share of it
        have used := settles.used connection object isLive told
        rw [(unheld_iff process).mp unheld] at used
        exact absurd used (Nat.lt_irrefl 0)
  refine ⟨?_, gone⟩
  cases instanceIs : process.mysql.currentInstance with
  | none => rfl
  | some connection =>
      obtain ⟨object, isLive⟩ := sound.serves.object_of_current instanceIs
      rw [gone connection] at isLive
      cases isLive

/-- Once `disconnect` has been called, a connection nobody holds is gone, if
shares were only taken by factories without one. -/
theorem disconnected_of_run
    (operations : List Operation)
    (process : Process)
    (ran : lifecycle.run {} operations = some process)
    (once : lifecycle.Allows SharesOnce {} operations)
    (told : process.mysql.disconnected = true)
    (unheld : process.Unheld) :
    process.Disconnected := by
  obtain ⟨sound, settles⟩ := settles_of_run ran once
  exact disconnected_of_settles sound settles told unheld

/-- Two factories, one moved into the other, around a `disconnect`. -/
def sharedOnce : List Operation :=
  [.setDefaultConnectionParams {}, .construct [] .opened,
    .clearDefaultConnectionParams, .construct [] .opened, .connect 1 {} .opened,
    .disconnect, .moveAssign 0 1 [], .destruct 1, .destruct 0]

theorem disconnected_sharedOnce :
    ∃ process, lifecycle.run {} sharedOnce = some process ∧
      process.Disconnected :=
  ⟨_, rfl, disconnected_of_run sharedOnce _ rfl (by decide) rfl
    ((unheld_iff _).mpr rfl)⟩

/-- A factory connected by its constructor and once more by `connect`. -/
def connectedTwice : List Operation :=
  [.setDefaultConnectionParams {}, .construct [] .opened, .connect 0 {} .opened,
    .destruct 0, .disconnect]

/-- Its second share is never given back. -/
theorem not_disconnected_connectedTwice :
    ¬ ∀ operations process, lifecycle.run {} operations = some process →
      process.mysql.disconnected = true → process.Unheld →
        process.Disconnected := by
  intro claimed
  have gone := claimed connectedTwice _ rfl rfl ((unheld_iff _).mpr rfl)
  exact absurd gone.1 (by decide)

/-! ## What one overwritten share does -/

/-- The operation overwrites no share. -/
def KeepsShares (process : Process) (operation : Operation) : Prop :=
  process.overwritesShare operation = false

/-- Every share overwritten along a run is leaked. -/
theorem leaked_of_run
    {operations : List Operation}
    {start process : Process}
    {leaked : Nat}
    (sound : start.Sound leaked)
    (tallied : start.mysql.Tallied)
    (ran : lifecycle.run start operations = some process)
    (bounded : process.mysql.acquisitions < 2 ^ 32) :
    ∃ total, process.Sound total ∧ leaked ≤ total ∧
      (¬ lifecycle.Allows KeepsShares start operations → leaked < total) := by
  induction operations generalizing start leaked with
  | nil =>
      cases ran
      exact ⟨leaked, sound, Nat.le_refl _, fun overwrote => absurd trivial overwrote⟩
  | cons operation operations inductionHypothesis =>
      obtain ⟨next, stepped, rest⟩ :=
        (lifecycle.run_cons_eq_some start process operation operations).mp ran
      have later := acquisitions_le_of_run rest
      have room : next.mysql.acquisitions = start.mysql.acquisitions + 1 →
          start.mysql.HasRoom :=
        hasRoom_of_tallied tallied (Nat.lt_of_le_of_lt later bounded)
      have effect := step_effect stepped
      have nextTallied := sound.step_tallied tallied effect
      by_cases overwrites : start.overwritesShare operation = true
      · obtain ⟨total, soundAfter, more, _⟩ := inductionHypothesis
          (sound.step_overwriting overwrites stepped room) nextTallied rest
        exact ⟨total, soundAfter, by omega, fun _ => by omega⟩
      · obtain ⟨total, soundAfter, more, leaks⟩ := inductionHypothesis
          (sound.step effect fun _ => room) nextTallied rest
        refine ⟨total, soundAfter, more, fun overwrote => leaks fun allowed => ?_⟩
        apply overwrote
        refine ⟨by simpa [KeepsShares] using overwrites, fun other same => ?_⟩
        rw [show other = next from Option.some.inj (same.symm.trans stepped)]
        exact allowed

/-- Along a run that overwrites no share the count is exact as long as fewer
shares are taken than it has values. -/
theorem settles_of_run_of_bounded
    {operations : List Operation}
    {process : Process}
    (ran : lifecycle.run {} operations = some process)
    (kept : lifecycle.Allows KeepsShares {} operations)
    (bounded : process.mysql.acquisitions < 2 ^ 32) :
    process.Sound 0 ∧ process.mysql.Settles process.holders := by
  have along : process.mysql.acquisitions < 2 ^ 32 → process.Sound 0 ∧
      process.mysql.Tallied ∧ process.mysql.Settles process.holders := by
    refine lifecycle.invariant_of_run_of_allows KeepsShares
      (fun process => process.mysql.acquisitions < 2 ^ 32 → process.Sound 0 ∧
        process.mysql.Tallied ∧ process.mysql.Settles process.holders)
      ?_ ?_ kept ran
    · intro process operation after before intact stepped bounded
      have effect := step_effect stepped
      have earlier := acquisitions_le effect
      obtain ⟨sound, tallied, settles⟩ := before (by omega)
      have room : process.takesShare operation = true →
          after.mysql.acquisitions = process.mysql.acquisitions + 1 →
            process.mysql.HasRoom :=
        fun _ => hasRoom_of_tallied tallied bounded
      exact ⟨sound.step effect room, sound.step_tallied tallied effect,
        step_settles sound settles intact room effect⟩
    · intro _
      exact ⟨Sound.initial, fun this object isLive => by simp at isLive,
        Connections.Settles.initial⟩
  exact ⟨(along bounded).1, (along bounded).2.2⟩

/-- Without a factory that holds it, a disconnected connection is gone exactly
when no share was ever overwritten. -/
theorem disconnected_iff_of_run
    {operations : List Operation}
    {process : Process}
    (ran : lifecycle.run {} operations = some process)
    (bounded : process.mysql.acquisitions < 2 ^ 32)
    (told : process.mysql.disconnected = true)
    (unheld : process.Unheld) :
    process.Disconnected ↔ lifecycle.Allows KeepsShares {} operations := by
  constructor
  · rintro ⟨noInstance, _⟩
    by_contra overwrote
    obtain ⟨total, sound, _, leaks⟩ := leaked_of_run Sound.initial
      (fun this object isLive => by simp at isLive) ran bounded
    -- the instance still counts the share that was leaked
    have served := sound.serves.unheld noInstance
    have leaked := leaks overwrote
    omega
  · intro kept
    obtain ⟨sound, settles⟩ := settles_of_run_of_bounded ran kept bounded
    exact disconnected_of_settles sound settles told unheld

end Process
end ModernCommon
